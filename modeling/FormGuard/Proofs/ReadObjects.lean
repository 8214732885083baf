import FormGuard.Json.Reader
import FormGuard.Proofs.CatalogReading

/-! Objects read from JSON. However often a name comes in the text, the object that is read has it once, and so has every
object within it. -/
namespace FormGuard

namespace Table

theorem memPut {α} {t : Table α} {name a e} (member : e ∈ t.put name a) : e = (name,a) ∨ e ∈ t := by
  induction t with
  | nil => exact .inl (List.mem_singleton.mp member)
  | cons f rest ih =>
    obtain ⟨n,b⟩ := f
    unfold put at member
    split at member
    · exact (List.mem_cons.mp member).imp_right (List.mem_cons_of_mem _)
    · rcases List.mem_cons.mp member with rfl | inside
      · exact .inr List.mem_cons_self
      · exact (ih inside).imp_right (List.mem_cons_of_mem _)

end Table

namespace Value

inductive Distinct : Value → Prop where
  | object {fields : Fields} (names : (Table.names fields).Nodup) (each : ∀ e ∈ fields, Distinct e.2) :
      Distinct (.object fields)
  | list {items : List Value} (each : ∀ v ∈ items, Distinct v) : Distinct (.list items)
  | leaf {v : Value} (simple : (∀ fields, v ≠ .object fields) ∧ ∀ items, v ≠ .list items) : Distinct v

namespace Distinct

theorem names {fields : Fields} (distinct : Distinct (.object fields)) : (Table.names fields).Nodup := by
  cases distinct with
  | object names => exact names
  | leaf simple => exact absurd rfl (simple.1 fields)

theorem entry {fields : Fields} (distinct : Distinct (.object fields)) {name v}
    (found : Table.get? fields name = some v) : Distinct v := by
  cases distinct with
  | object _ each => exact each _ (memOfGet found)
  | leaf simple => exact absurd rfl (simple.1 fields)

theorem put {fields : Fields} (distinct : Distinct (.object fields)) {name v} (own : Distinct v) :
    Distinct (.object (Table.put fields name v)) := by
  refine .object (Table.nodupPut distinct.names name v) fun e member => ?_
  rcases Table.memPut member with rfl | inside
  · exact own
  · cases distinct with
    | object _ each => exact each e inside
    | leaf simple => exact absurd rfl (simple.1 fields)

end Distinct
end Value

namespace Json
open Value

theorem mapOk {ε α β : Type} {x : Except ε α} {f : α → β} {b : β} (ok : x.map f = .ok b) : ∃ a, x = .ok a ∧ f a = b := by
  cases x with
  | error d => contradiction
  | ok a => exact ⟨a,rfl,Except.ok.inj ok⟩

theorem integerDistinct {negative ds v} (read : integer negative ds = .ok v) : Distinct v := by
  unfold integer at read
  split at read
  · contradiction
  · cases read
    exact .leaf ⟨nofun,nofun⟩

theorem unsignedDistinct {negative cs v rest} (read : readUnsigned negative cs = .ok (v,rest)) : Distinct v := by
  unfold readUnsigned at read
  split at read
  · contradiction
  · dsimp only at read
    split at read
    · obtain ⟨n,number,same⟩ := mapOk read
      cases same
      exact integerDistinct number
    · cases read
      exact .leaf ⟨nofun,nofun⟩

theorem wordDistinct {cs v rest} (read : readWord? cs = some (v,rest)) : Distinct v := by
  obtain ⟨⟨word,w⟩,member,found⟩ := List.exists_of_findSome?_eq_some read
  have simple : Distinct w := by
    simp only [words,List.mem_cons,Prod.mk.injEq,List.not_mem_nil,or_false] at member
    rcases member with ⟨_,rfl⟩ | ⟨_,rfl⟩ | ⟨_,rfl⟩ | ⟨_,rfl⟩ | ⟨_,rfl⟩ | ⟨_,rfl⟩ <;> exact .leaf ⟨nofun,nofun⟩
  dsimp only at found
  split at found
  · cases found
    exact simple
  · contradiction

theorem scalarDistinct {cs v rest} (read : readScalar cs = .ok (v,rest)) : Distinct v := by
  unfold readScalar at read
  split at read
  · rename_i found word
    cases read
    exact wordDistinct word
  · split at read
    · split at read
      · cases read
        exact .leaf ⟨nofun,nofun⟩
      · contradiction
    · exact unsignedDistinct read
    · exact unsignedDistinct read

structure ReadsDistinct (fuel : Nat) : Prop where
  value {levels cs v rest} : readValue fuel levels cs = .ok (v,rest) → Distinct v
  items {levels cs vs rest} : readItems fuel levels cs = .ok (vs,rest) → ∀ v ∈ vs, Distinct v
  fields {levels before cs fields rest} : readFields fuel levels before cs = .ok (fields,rest) →
    Distinct (.object before) → Distinct (.object fields)

theorem readsDistinct (fuel : Nat) : ReadsDistinct fuel := by
  induction fuel with
  | zero => exact ⟨nofun,nofun,nofun⟩
  | succ fuel ih =>
    have inner {m : Nat} (same : fuel + 1 = m.succ) : ReadsDistinct m := Nat.succ.inj same ▸ ih
    refine ⟨?_,?_,?_⟩
    · intro levels cs v rest read
      unfold readValue at read
      split at read
      · contradiction
      · contradiction
      · contradiction
      · split at read
        · cases read
          exact .list fun v none => absurd none List.not_mem_nil
        · obtain ⟨_,items,same⟩ := mapOk read
          cases same
          exact .list ((inner ‹_›).items items)
      · split at read
        · cases read
          exact .object List.nodup_nil fun v none => absurd none List.not_mem_nil
        · obtain ⟨_,fields,same⟩ := mapOk read
          cases same
          exact (inner ‹_›).fields fields (.object List.nodup_nil fun v none => absurd none List.not_mem_nil)
      · exact scalarDistinct read
    · intro levels cs vs rest read
      unfold readItems at read
      split at read
      · contradiction
      · rename_i first
        have own := ih.value first
        split at read
        · cases read
          exact List.forall_mem_singleton.mpr own
        · obtain ⟨_,items,same⟩ := mapOk read
          cases same
          exact List.forall_mem_cons.mpr ⟨own,ih.items items⟩
        · contradiction
    · intro levels before cs fields rest read distinct
      unfold readFields at read
      split at read
      · contradiction
      · split at read
        · contradiction
        · split at read
          · split at read
            · contradiction
            · rename_i value
              have put {name} := @Distinct.put _ distinct name _ ((inner ‹_›).value value)
              split at read
              · cases read
                exact put
              · exact (inner ‹_›).fields read put
              · contradiction
          · contradiction
      · contradiction

theorem readDistinct {text v} (ok : read text = .ok v) : Distinct v := by
  unfold read at ok
  dsimp only at ok
  split at ok
  · contradiction
  · rename_i value
    split at ok
    · cases ok
      exact (readsDistinct _).value value
    · contradiction

end Json
end FormGuard
