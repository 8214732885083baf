import FormGuard.Proofs.JsonDocuments
import FormGuard.Proofs.RefusedRequests

/-! The codes of answers. Each line gets one answer, with a result or with an error whose code says what went wrong; and the
answer has the id of the request, except where the request goes beyond what the reader can take. -/
namespace FormGuard
namespace Service

def Requests (line : String) (request : Value.Fields) (levels digits : Nat) : Prop :=
  Json.Document line (.object request) levels digits ∧ (param request "jsonrpc").equals (.text "2.0") = true

def Exceeds (levels digits : Nat) : Prop := Json.levelLimit < levels ∨ Numeral.digitLimit < digits

def Raises (s : Session) (line : String) (p : Problem) : Prop :=
  ∃ e s', errandOf line = some e ∧ e.call.run (e.noted s) = (.error (.problem p),s')

def errorOf (answer : Value.Fields) : Option Value.Fields :=
  match answer.get? "error" with
  | some (.object error) => some error
  | _ => none

def codeOf (answer : Value.Fields) : Option Int :=
  match (errorOf answer).bind (·.get? "code") with
  | some (.int code) => some code
  | _ => none

structure Classified (w : Wording) (s : Session) (line : String) (answer : Value.Fields) : Prop where
  version : answer.get? "jsonrpc" = some (.text "2.0")
  either : (answer.get? "result").isSome = (answer.get? "error").isNone
  coded : (answer.get? "error").isSome = (codeOf answer).isSome
  known {request k n} : Requests line request k n → ¬ Exceeds k n → answer.get? "id" = some (param request "id")
  unknown : (∀ request k n, ¬ Requests line request k n) → answer.get? "id" = some .null
  exceeding {v k n} : Json.Document line v k n → Exceeds k n →
    answer.get? "id" = some .null ∧ (codeOf answer = some (-32602) ∨ codeOf answer = some (-32000))
  problem {p} : Raises s line p → errorOf answer =
    some [("code",.int (-32001)),("message",.text (p.message w)),("data",.object [("type",.text p.family.label)])]
  raised : codeOf answer = some (-32001) → ∃ p, Raises s line p
  data {error} : errorOf answer = some error → error.get? "data" ≠ none → codeOf answer = some (-32001)
  method : codeOf answer = some (-32601) → ∃ request k n, Requests line request k n ∧
    ∀ name, param request "method" = .text name → Method.named? name = none
  parse : codeOf answer = some (-32700) → ∀ v k n, ¬ Json.Document line v k n

/-! ## Refusals -/

theorem ofFaultCode (f : Fault) : (Refusal.ofFault f).code = -32602 ∨ (Refusal.ofFault f).code = -32000 := by
  cases f <;> first | exact .inl rfl | exact .inr rfl

theorem problemCode {r : Refusal} (code : r.code = -32001) : ∃ p, r = .problem p := by
  cases r with
  | problem p => exact ⟨p,rfl⟩
  | _ => simp [Refusal.code] at code

theorem plainDetails {r : Refusal} (code : r.code ≠ -32001) : r.details = [] := by
  cases r with
  | problem p => exact absurd rfl code
  | _ => rfl

theorem ofFailureProblem {f : Failure} {p} (same : Refusal.ofFailure f = .problem p) : f = .problem p := by
  cases f with
  | problem q => exact congrArg Failure.problem (Refusal.problem.inj same)
  | fault f =>
    have code := congrArg Refusal.code same
    rcases ofFaultCode f with other | other <;> rw [Refusal.ofFailure,other] at code <;> simp [Refusal.code] at code

theorem ofFailureCode (f : Failure) : (Refusal.ofFailure f).code ≠ -32601 ∧ (Refusal.ofFailure f).code ≠ -32700 := by
  cases f with
  | problem => simp [Refusal.ofFailure,Refusal.code]
  | fault f => rcases ofFaultCode f with code | code <;> rw [Refusal.ofFailure,code] <;> decide

theorem Slip.code {r : Refusal} (slip : Slip r) : r.code = -32602 ∨ r.code = -32000 := by
  cases slip with
  | missing => exact .inl rfl
  | fault f => exact ofFaultCode f

theorem Unheard.reason {line : String} {r : Refusal} (unheard : Unheard line r) :
    r.code = -32700 ∧ Json.read line = .error .malformed ∨
    r.code = -32601 ∧ (∃ request, Json.read line = .ok (.object request) ∧
      (param request "jsonrpc").equals (.text "2.0") = true ∧
      ∀ name, param request "method" = .text name → Method.named? name = none) ∨
    r.code = -32600 ∨ r.code = -32602 ∨ r.code = -32000 := by
  cases unheard with
  | unreadable read => exact .inl ⟨rfl,read⟩
  | beyond f => exact .inr (.inr (.inr (ofFaultCode f)))
  | noObject => exact .inr (.inr (.inl rfl))
  | @unfit request _ read unfit =>
    cases unfit with
    | version => exact .inr (.inr (.inl rfl))
    | noMethod => exact .inr (.inr (.inl rfl))
    | params => exact .inr (.inr (.inr (.inl rfl)))
    | method right unknown => exact .inr (.inl ⟨rfl,request,read,right,unknown⟩)
    | slip slip => exact .inr (.inr (.inr slip.code))

theorem lineRefused {line : String} {s : Session} {r} (refused : (answerLine line s).2.1.answer = .error r) :
    Unheard line r ∨ ∃ f, r = .ofFailure f := by
  have outcome := lineOutcome line s
  generalize (answerLine line s).2.2 = s' at outcome
  generalize (answerLine line s).2.1.answer = answer at outcome refused
  cases outcome with
  | idle _ _ why => exact .inl (why r refused)
  | @failed _ f =>
    cases refused
    exact .inr ⟨f,rfl⟩
  | done => contradiction
  | told => contradiction

theorem methodUnknown {line : String} {s : Session} {r} (refused : (answerLine line s).2.1.answer = .error r)
    (code : r.code = -32601) : ∃ request k n, Requests line request k n ∧
      ∀ name, param request "method" = .text name → Method.named? name = none := by
  rcases lineRefused refused with unheard | ⟨f,rfl⟩
  · obtain ⟨parse,_⟩ | ⟨_,request,read,right,unknown⟩ | other := unheard.reason
    · omega
    · obtain ⟨k,n,document,_⟩ := Json.readDocument read
      exact ⟨request,k,n,⟨document,right⟩,unknown⟩
    · omega
  · exact absurd code (ofFailureCode f).1

theorem lineUnreadable {line : String} {s : Session} {r} (refused : (answerLine line s).2.1.answer = .error r)
    (code : r.code = -32700) : ∀ v k n, ¬ Json.Document line v k n := by
  rcases lineRefused refused with unheard | ⟨f,rfl⟩
  · obtain ⟨_,read⟩ | ⟨method,_⟩ | other := unheard.reason
    · intro v k n document
      have limited := Json.documentRead document
      rw [read] at limited
      cases limited
    · omega
    · omega
  · exact absurd code (ofFailureCode f).2

theorem raisesAnswered {s : Session} {line : String} {p} :
    Raises s line p ↔ (answerLine line s).2.1.answer = .error (.problem p) := by
  have outcome := lineOutcome line s
  generalize (answerLine line s).2.2 = s' at outcome
  generalize (answerLine line s).2.1.answer = answer at outcome ⊢
  constructor
  · rintro ⟨e,_,errand,raised⟩
    cases outcome with
    | idle none => cases none.symm.trans errand
    | failed errand' failed =>
      cases errand.symm.trans errand'
      cases raised.symm.trans failed
      rfl
    | done errand' ok =>
      cases errand.symm.trans errand'
      cases raised.symm.trans ok
    | told errand' ok =>
      cases errand.symm.trans errand'
      cases raised.symm.trans ok
  · intro refused
    cases outcome with
    | idle _ _ why =>
      have code : (Refusal.problem p).code = -32001 := rfl
      have := (why _ refused).reason
      omega
    | failed errand failed =>
      cases ofFailureProblem (Except.error.inj refused)
      exact ⟨_,_,errand,failed⟩
    | done => contradiction
    | told => contradiction

structure Sent (w : Wording) (r : Response) (answer : Value.Fields) : Prop where
  version : answer.get? "jsonrpc" = some (.text "2.0")
  id : answer.get? "id" = some r.id
  result : answer.get? "result" = r.answer.toOption
  error : answer.get? "error" = match r.answer with
    | .ok _ => none
    | .error e => some (e.toValue w)

theorem responseSent (w : Wording) (r : Response) : ∃ answer, r.toValue w = .object answer ∧ Sent w r answer := by
  obtain ⟨id,e | v⟩ := r <;> exact ⟨_,rfl,rfl,rfl,rfl,rfl⟩

theorem Sent.errors {w : Wording} {r : Response} {answer e} (sent : Sent w r answer) (refused : r.answer = .error e) :
    errorOf answer = some ([("code",.int e.code),("message",.text (e.message w))] ++ e.details) ∧
    codeOf answer = some e.code := by
  have error := sent.error
  rw [refused] at error
  have fields : errorOf answer = some ([("code",.int e.code),("message",.text (e.message w))] ++ e.details) := by
    unfold errorOf
    rw [error]
    rfl
  refine ⟨fields,?_⟩
  unfold codeOf
  rw [fields]
  rfl

theorem Sent.code {w : Wording} {r : Response} {answer c} (sent : Sent w r answer) (code : codeOf answer = some c) :
    ∃ e, r.answer = .error e ∧ e.code = c := by
  cases given : r.answer with
  | error e => exact ⟨e,rfl,Option.some.inj ((sent.errors given).2.symm.trans code)⟩
  | ok v =>
    have error := sent.error
    rw [given] at error
    simp [codeOf,errorOf,error] at code

theorem Sent.either {w : Wording} {r : Response} {answer} (sent : Sent w r answer) :
    (answer.get? "result").isSome = (answer.get? "error").isNone := by
  rw [sent.result,sent.error]
  cases r.answer <;> rfl

theorem Sent.coded {w : Wording} {r : Response} {answer} (sent : Sent w r answer) :
    (answer.get? "error").isSome = (codeOf answer).isSome := by
  have error := sent.error
  cases given : r.answer with
  | ok v =>
    rw [given] at error
    simp [codeOf,errorOf,error]
  | error e =>
    rw [(sent.errors given).2,error,given]
    rfl

theorem Sent.data {w : Wording} {r : Response} {answer error} (sent : Sent w r answer) (found : errorOf answer = some error)
    (data : error.get? "data" ≠ none) : codeOf answer = some (-32001) := by
  cases given : r.answer with
  | ok v =>
    have none := sent.error
    rw [given] at none
    simp [errorOf,none] at found
  | error e =>
    obtain ⟨fields,code⟩ := sent.errors given
    rw [code]
    by_contra other
    rw [plainDetails fun same => other (congrArg some same)] at fields
    cases found.symm.trans fields
    exact data rfl

theorem objectId {request : Value.Fields} {s : Session} (right : (param request "jsonrpc").equals (.text "2.0") = true) :
    (answerObject request s).2.1.id = param request "id" := by
  unfold answerObject
  dsimp only
  rw [right]
  simp only [Bool.not_true,Bool.false_eq_true,if_false]
  repeat' split
  all_goals rfl

theorem objectAnonymous {request : Value.Fields} {s : Session}
    (wrong : (param request "jsonrpc").equals (.text "2.0") = false) :
    (answerObject request s).2.1 = ⟨.null,.error (.wrongVersion (param request "jsonrpc"))⟩ := by
  unfold answerObject
  dsimp only
  rw [wrong]
  rfl

theorem requestAnswered {line : String} {request k n} (requests : Requests line request k n) (within : ¬ Exceeds k n)
    (s : Session) : (answerLine line s).2.1.id = param request "id" := by
  unfold Exceeds at within
  have read := Json.documentGiven requests.1 (by omega) (by omega)
  unfold answerLine
  rw [read]
  exact objectId requests.2

theorem unrequestedAnswered {line : String} (none : ∀ request k n, ¬ Requests line request k n) (s : Session) :
    (answerLine line s).2.1.id = .null := by
  unfold answerLine
  split
  · rfl
  · rfl
  · rfl
  · rename_i request read
    obtain ⟨k,n,document,_⟩ := Json.readDocument read
    have wrong : (param request "jsonrpc").equals (.text "2.0") = false := by
      by_contra right
      exact none request k n ⟨document,by simpa using right⟩
    rw [objectAnonymous wrong]
  · rfl

theorem exceedingAnswered {line : String} {v k n} (document : Json.Document line v k n) (beyond : Exceeds k n) (s : Session) :
    ∃ e, (answerLine line s).2.1 = ⟨.null,.error e⟩ ∧ (e.code = -32602 ∨ e.code = -32000) := by
  unfold answerLine
  rcases Json.documentRefused document beyond with read | read <;> rw [read]
  · exact ⟨_,rfl,.inr rfl⟩
  · exact ⟨_,rfl,.inl rfl⟩

/-- Each line gets one answer, well formed and with the code that its error has. Only where the line goes beyond what the
reader can take is the id of a request lost. -/
theorem lineClassified (w : Wording) (s : Session) (line : String) :
    ∃ answer, (answerLine line s).2.1.toValue w = .object answer ∧ Classified w s line answer := by
  obtain ⟨answer,object,sent⟩ := responseSent w (answerLine line s).2.1
  refine ⟨answer,object,?_⟩
  constructor
  case version => exact sent.version
  case either => exact sent.either
  case coded => exact sent.coded
  case known =>
    intro request k n requests within
    rw [sent.id,requestAnswered requests within]
  case unknown =>
    intro none
    rw [sent.id,unrequestedAnswered none]
  case exceeding =>
    intro v k n document beyond
    obtain ⟨r,refused,code⟩ := exceedingAnswered document beyond s
    have answered := (sent.errors (congrArg Response.answer refused)).2
    rw [sent.id,refused,answered]
    exact ⟨rfl,code.imp (congrArg some) (congrArg some)⟩
  case problem =>
    intro p raised
    exact (sent.errors (raisesAnswered.mp raised)).1
  case raised =>
    intro code
    obtain ⟨r,refused,same⟩ := sent.code code
    obtain ⟨p,rfl⟩ := problemCode same
    exact ⟨p,raisesAnswered.mpr refused⟩
  case data =>
    intro error found data
    exact sent.data found data
  case method =>
    intro code
    obtain ⟨r,refused,same⟩ := sent.code code
    exact methodUnknown refused same
  case parse =>
    intro code
    obtain ⟨r,refused,same⟩ := sent.code code
    exact lineUnreadable refused same

def numberedLine (ds : List Char) : String :=
  String.ofList ("\x7b\"jsonrpc\":\"2.0\",\"id\":7,\"method\":\"get_summary\",\"params\":\x7b\"n\":".toList ++
    (ds ++ ['\x7d','\x7d']))

def numbered (ds : List Char) : Value.Fields :=
  [("jsonrpc",.text "2.0"),("id",.int 7),("method",.text "get_summary"),
    ("params",.object [("n",.int (Json.signed false (Numeral.natOf ds)))])]

theorem numberedRequests {ds : List Char} (whole : Json.Whole ds) :
    ∃ n, Requests (numberedLine ds) (numbered ds) 2 n ∧ ds.length ≤ n := by
  have quoted {cs s} (read : Json.readText? cs = some (s,[])) : Json.Quoted cs s := by
    obtain ⟨text,same,quoted⟩ := Json.readQuoted read
    rw [List.append_nil] at same
    exact same ▸ quoted
  have jsonrpc : Json.Quoted "jsonrpc\"".toList "jsonrpc" := quoted (by decide +kernel)
  have version : Json.Quoted "2.0\"".toList "2.0" := quoted (by decide +kernel)
  have id : Json.Quoted "id\"".toList "id" := quoted (by decide +kernel)
  have method : Json.Quoted "method\"".toList "method" := quoted (by decide +kernel)
  have summary : Json.Quoted "get_summary\"".toList "get_summary" := quoted (by decide +kernel)
  have params : Json.Quoted "params\"".toList "params" := quoted (by decide +kernel)
  have n : Json.Quoted "n\"".toList "n" := quoted (by decide +kernel)
  have seven : Json.Whole ['7'] := ⟨⟨by simp,by simp [Numeral.isDigit,Text.isAsciiDigit]⟩,by simp⟩
  have blank : Json.Blank [] := by simp [Json.Blank]
  have inner := Json.Spells.object blank (.lastField n blank blank (.positive (.integer whole)) blank)
  have object := Json.Spells.object blank (.nextField jsonrpc blank blank (.text version) blank blank
    (.nextField id blank blank (.positive (.integer seven)) blank blank
      (.nextField method blank blank (.text summary) blank blank (.lastField params blank blank inner blank))))
  have entries : Table.overlay [] [("jsonrpc",.text "2.0"),("id",.int (Json.signed false (Numeral.natOf ['7']))),
      ("method",.text "get_summary"),
      ("params",.object (Table.overlay [] [("n",.int (Json.signed false (Numeral.natOf ds)))]))] = numbered ds := by
    simp [Table.overlay,Table.put,numbered,Json.signed,Numeral.natOf]
  rw [entries] at object
  have right : (param (numbered ds) "jsonrpc").equals (.text "2.0") = true := by
    simp [param,numbered,Table.get?,Value.equals]
  generalize longest : max 0 (max ['7'].length (max 0 ds.length)) = digits at object
  have document : Json.Document (numberedLine ds) (.object (numbered ds)) 2 digits := by
    refine ⟨[],_,[],blank,object,blank,String.toList_ofList.trans ?_⟩
    simp
  exact ⟨digits,⟨document,right⟩,by omega⟩

def manyDigits : List Char := List.replicate 4301 '1'

theorem idLost : (Session.smallPage true).Opened ∧ Served (Session.smallPage true) smallServer ∧ ∃ n answer,
    Requests (numberedLine manyDigits) (numbered manyDigits) 2 n ∧ param (numbered manyDigits) "id" = .int 7 ∧
    (answerLine (numberedLine manyDigits) smallServer).2.1.toValue .plain = .object answer ∧
    Table.get? answer "id" = some .null := by
  have whole : Json.Whole manyDigits := by
    refine ⟨⟨nofun,fun c inside => List.eq_of_mem_replicate inside ▸ rfl⟩,fun zero => ?_⟩
    cases zero
  have length : manyDigits.length = 4301 := List.length_replicate
  generalize manyDigits = ds at *
  obtain ⟨n,requests,long⟩ := numberedRequests whole
  obtain ⟨answer,object,classified⟩ := lineClassified .plain smallServer (numberedLine ds)
  have beyond : Exceeds 2 n := .inr (Nat.lt_of_lt_of_le (by decide) (length ▸ long))
  exact ⟨Session.smallOpened true,.start,n,answer,requests,rfl,object,(classified.exceeding requests.1 beyond).1⟩

end Service
end FormGuard
