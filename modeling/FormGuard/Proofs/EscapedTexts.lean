import FormGuard.Pattern.Matching
import FormGuard.Pattern.Template
import FormGuard.Proofs.CaselessReading
import Mathlib.Data.List.Forall2
import Mathlib.Data.List.Infix

/-! Escaped texts as patterns. Whatever characters a text has, its escaped form is read as just these characters, one after
the other, and found exactly where they stand. -/
namespace FormGuard.Pattern
open Text

def escapedToken (c : Char) : Token := if specialChars.contains c then .escaped c else .plain c

def spelled (flags : Flags) (p : List Char) : Node := chain (p.map fun c => literal flags c.toNat).reverse

/-! ## Reading -/

theorem escapedTokens (p : List Char) : tokens (escape p) = p.map escapedToken := by
  induction p with
  | nil => rfl
  | cons c p ih =>
    have whole : escape (c::p) = escapeChar c++escape p := rfl
    rw [whole,List.map_cons,← ih]
    unfold escapeChar escapedToken
    by_cases special : specialChars.contains c = true
    · rw [if_pos special,if_pos special]
      rfl
    · rw [if_neg special,if_neg special]
      have other : c ≠ '\\' := by
        rintro rfl
        exact special (by decide)
      rw [List.singleton_append,tokens.eq_4]
      · exact fun same => absurd same other
      · exact fun _ _ same => absurd same other

theorem specialRead {c : Char} (special : c ∈ specialChars) (flags : Flags) (st : Known) (ts : List Token) :
    readEscape flags st c ts = .ok (literal flags c.toNat,ts) := by
  simp only [specialChars,List.mem_cons,List.not_mem_nil,or_false] at special
  rcases special with rfl | rfl | rfl | rfl | rfl | rfl | rfl | rfl | rfl | rfl | rfl | rfl | rfl | rfl | rfl | rfl | rfl | rfl |
    rfl | rfl | rfl | rfl | rfl | rfl <;> rfl

theorem ordinaryRead {c : Char} (ordinary : c ∉ specialChars) (first : Bool) (flags : Flags) (st : Known) (entries : List Entry)
    (ts : List Token) :
    readPiece first flags st entries (.plain c::ts) = .ok (.next flags st (literal flags c.toNat::entries) ts) := by
  simp only [specialChars,List.mem_cons,List.not_mem_nil,or_false,not_or] at ordinary
  have blank : isSkipped c = false := by simp [isSkipped,ordinary]
  have plain : readPlain first flags st entries c ts = .ok (.next flags st (literal flags c.toNat::entries) ts) := by
    unfold readPlain
    split <;> simp_all
  simp [readPiece,ordinary,blank,plain]

theorem characterRead (c : Char) (first : Bool) (flags : Flags) (st : Known) (entries : List Entry) (ts : List Token) :
    readPiece first flags st entries (escapedToken c::ts) = .ok (.next flags st (literal flags c.toNat::entries) ts) := by
  unfold escapedToken
  by_cases special : specialChars.contains c = true
  · rw [if_pos special,readPiece,specialRead (by simpa using special)]
    rfl
  · rw [if_neg special]
    exact ordinaryRead (by simpa using special) first flags st entries ts

theorem textRead (p : List Char) (fuel : Nat) (first : Bool) (flags : Flags) (st : Known) (entries : List Entry) (ts : List Token) :
    readSequence first flags (p.length+fuel) st entries (p.map escapedToken++ts) =
      readSequence first flags fuel st ((p.map fun c => literal flags c.toNat).reverse++entries) ts := by
  induction p generalizing entries with
  | nil => simp
  | cons c p ih =>
    have next := ih (literal flags c.toNat::entries)
    have fuelled : (c::p).length+fuel = p.length+fuel+1 := by
      rw [List.length_cons]
      omega
    rw [fuelled,List.map_cons,List.cons_append,readSequence,characterRead]
    simpa [bind,Except.bind] using next

theorem escapedRead (flags : Flags) (one : flags.ascii = false ∨ flags.unicode = false) (p : List Char) :
    read flags (escape p) = .ok (spelled flags p) := by
  have whole : readSequence true flags (p.length+(p.length+1)) (.start flags) [] (p.map escapedToken++[]) =
      .ok (spelled flags p,.start flags,[]) := by
    rw [textRead,readSequence,List.append_nil]
    rfl
  have fuel : readFuel (p.map escapedToken) = p.length+(p.length+1)+1 := by
    rw [readFuel,List.length_map]
    omega
  rw [List.append_nil] at whole
  rw [read]
  simp only [escapedTokens,fuel]
  rw [readAlternatives]
  simp only [whole,bind,Except.bind]
  rcases one with off | off <;> simp [off,Known.start,pure,Except.pure]

/-! ## Searching -/

theorem spelledCons (flags : Flags) (c : Char) (p : List Char) :
    spelled flags (c::p) = (literal flags c.toNat).before (spelled flags p) := by
  rw [spelled,List.map_cons,List.reverse_cons,chainEq,List.foldl_append]
  rfl

theorem beforeRun (size : Nat) (e : Entry) (tail : Node) (k : Kont) (s : Cursor) :
    run size (e.before tail) k s = run size e.node (run size tail k) s := by
  unfold Entry.before
  cases tail <;> rfl

def StandsFor (folding : Folding) (c d : Char) : Prop := (CharSet.single folding c.toNat).holds d = true

theorem spelledRun (size : Nat) (flags : Flags) (p : List Char) (s : Cursor) :
    (run size (spelled flags p) some s).isSome = true ↔
      ∃ w rest, s.after = w++rest ∧ List.Forall₂ (StandsFor flags.folding) p w := by
  induction p generalizing s with
  | nil => simp [spelled,chain,run]
  | cons c p ih =>
    rw [spelledCons,beforeRun]
    simp only [literal,Entry.node,run,Cursor.step?]
    cases after : s.after with
    | nil => simp
    | cons d ds =>
      by_cases holds : (CharSet.single flags.folding c.toNat).holds d = true
      · simp only [holds,if_true,ih]
        constructor
        · rintro ⟨w,rest,rfl,each⟩
          exact ⟨d::w,rest,rfl,.cons holds each⟩
        · rintro ⟨w,rest,whole,each⟩
          cases each with
          | cons _ each =>
            obtain ⟨rfl,rfl⟩ := List.cons.inj whole
            exact ⟨_,rest,rfl,each⟩
      · constructor
        · simp [holds]
        · rintro ⟨w,rest,whole,each⟩
          cases each with
          | cons first _ =>
            obtain ⟨rfl,_⟩ := List.cons.inj whole
            exact absurd first holds

theorem spelledFrom (size : Nat) (flags : Flags) (p before after : List Char) (index : Nat) :
    searchFrom size (spelled flags p) before after index = true ↔
      ∃ w, w <:+: after ∧ List.Forall₂ (StandsFor flags.folding) p w := by
  induction after generalizing before index with
  | nil =>
    rw [searchFrom,spelledRun]
    constructor
    · rintro ⟨w,rest,whole,each⟩
      obtain ⟨rfl,_⟩ := List.append_eq_nil_iff.mp whole.symm
      exact ⟨[],List.infix_refl _,each⟩
    · rintro ⟨w,inside,each⟩
      obtain rfl := List.infix_nil.mp inside
      exact ⟨[],[],rfl,each⟩
  | cons c cs ih =>
    rw [searchFrom,Bool.or_eq_true,spelledRun,ih]
    constructor
    · rintro (⟨w,rest,whole,each⟩ | ⟨w,inside,each⟩)
      · exact ⟨w,⟨[],rest,whole.symm⟩,each⟩
      · exact ⟨w,List.infix_cons inside,each⟩
    · rintro ⟨w,inside,each⟩
      rcases List.infix_cons_iff.mp inside with ⟨rest,whole⟩ | inside
      · exact .inl ⟨w,rest,whole.symm,each⟩
      · exact .inr ⟨w,inside,each⟩

theorem spelledSearch (flags : Flags) (p text : List Char) : (spelled flags p).search text = true ↔
    ∃ w, w <:+: text ∧ List.Forall₂ (StandsFor flags.folding) p w :=
  spelledFrom text.length flags p [] text 0

end FormGuard.Pattern
