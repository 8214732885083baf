import FormGuard.Text.Alphabet

/-! Cutting, joining and replacing in texts held as lists of characters. Searches find the first
occurrence; repeated replacement continues behind the piece just replaced. -/
namespace FormGuard.Text

def splitOn (sep : Char) : List Char → List (List Char)
  | [] => [[]]
  | c :: cs =>
    if c = sep then [] :: splitOn sep cs
    else match splitOn sep cs with
      | [] => [[c]]
      | p :: ps => (c :: p) :: ps

def join (sep : List Char) : List (List Char) → List Char
  | [] => []
  | [p] => p
  | p :: q :: ps => p ++ sep ++ join sep (q :: ps)

def dropLead? : (lead text : List Char) → Option (List Char)
  | [],cs => some cs
  | _ :: _,[] => none
  | l :: ls,c :: cs => if l = c then dropLead? ls cs else none

def startsWith (lead text : List Char) : Bool := (dropLead? lead text).isSome

def breakOn? (mark : List Char) : List Char → Option (List Char × List Char)
  | [] => (dropLead? mark []).map ([],·)
  | c :: cs =>
    match dropLead? mark (c :: cs) with
    | some rest => some ([],rest)
    | none => (breakOn? mark cs).map fun (before,rest) => (c :: before,rest)

def occurs (mark text : List Char) : Bool := (breakOn? mark text).isSome

def replaceFirst (mark fresh text : List Char) : List Char :=
  match breakOn? mark text with
  | some (before,rest) => before ++ fresh ++ rest
  | none => text

/-- Replaces the occurrences of `mark`, from left to right, after leaving out `skip` characters. -/
def replaceFrom (mark fresh : List Char) : (skip : Nat) → List Char → List Char
  | _,[] => []
  | skip + 1,_ :: cs => replaceFrom mark fresh skip cs
  | 0,c :: cs =>
    if startsWith mark (c :: cs) then fresh ++ replaceFrom mark fresh (mark.length - 1) cs
    else c :: replaceFrom mark fresh 0 cs

def replaceAll (mark fresh text : List Char) : List Char := replaceFrom mark fresh 0 text

def dropBlanks : List Char → List Char := List.dropWhile (fun c => isBlank c.toNat)

def strip (cs : List Char) : List Char := (dropBlanks (dropBlanks cs).reverse).reverse

theorem splitOnNonempty (sep : Char) (cs : List Char) : splitOn sep cs ≠ [] := by
  induction cs with
  | nil => simp [splitOn]
  | cons c cs ih =>
    simp only [splitOn]
    split
    · simp
    · split <;> simp

theorem joinSplitOn (sep : Char) (cs : List Char) : join [sep] (splitOn sep cs) = cs := by
  induction cs with
  | nil => rfl
  | cons c cs ih =>
    simp only [splitOn]
    split
    · rename_i h
      subst h
      cases hs : splitOn c cs with
      | nil => exact absurd hs (splitOnNonempty c cs)
      | cons p ps => rw [hs] at ih; simp [join,ih]
    · cases hs : splitOn sep cs with
      | nil => exact absurd hs (splitOnNonempty sep cs)
      | cons p ps =>
        rw [hs] at ih
        cases ps with
        | nil => simp [join] at ih ⊢; exact ih
        | cons q qs => simp [join] at ih ⊢; exact ih

theorem dropLeadIff {lead text rest : List Char} :
    dropLead? lead text = some rest ↔ text = lead ++ rest := by
  induction lead generalizing text with
  | nil => simp [dropLead?,eq_comm]
  | cons l ls ih =>
    cases text with
    | nil => simp [dropLead?]
    | cons c cs =>
      simp only [dropLead?]
      split
      · rename_i h; subst h; simp [ih]
      · rename_i h; simp [Ne.symm h]

theorem breakOnAppend {mark text before rest : List Char}
    (h : breakOn? mark text = some (before,rest)) : text = before ++ mark ++ rest := by
  induction text generalizing before with
  | nil =>
    simp only [breakOn?,Option.map_eq_some_iff] at h
    obtain ⟨r,hr,eq⟩ := h
    cases eq
    simpa using dropLeadIff.1 hr
  | cons c cs ih =>
    simp only [breakOn?] at h
    split at h
    · rename_i r hr
      cases h
      simpa using dropLeadIff.1 hr
    · simp only [Option.map_eq_some_iff] at h
      obtain ⟨⟨b,r⟩,hb,eq⟩ := h
      cases eq
      simp [ih hb]

end FormGuard.Text
